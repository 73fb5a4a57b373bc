import ChainRpc.Json.Value
import ChainRpc.Proofs.Json.Grammar

/-!
# Printed literals and numbers

A text is printed as a literal that stands for it, and a whole number as a numeral that stands
for it. Both are spelled by the rules of JSON. A text has other literals as well, with more escapes.
-/

namespace ChainRpc.Json

/-! ### Literals -/

namespace Piece

theorem hexValue?_unitDigit {n : Nat} (hsmall : n < 16) : hexValue? (unitDigit n) = some n := by
  revert n
  decide

theorem isHexDigit_unitDigit {n : Nat} (hsmall : n < 16) : IsHexDigit (unitDigit n) := by
  rw [← isSome_hexValue?_iff, hexValue?_unitDigit hsmall]
  rfl

/-- The unit of a control character has its number. -/
theorem unitValue?_control {n : Nat} (hcontrol : n < 0x20) :
    unitValue? '0' '0' (unitDigit (n / 16)) (unitDigit (n % 16)) = some n := by
  have hzero : hexValue? '0' = some 0 := rfl
  simp only [unitValue?, hzero, hexValue?_unitDigit (show n / 16 < 16 by omega),
    hexValue?_unitDigit (show n % 16 < 16 by omega), Option.pure_def, Option.bind_eq_bind,
    Option.bind_some]
  congr 1
  omega

theorem escapeValue?_shortEscape? {c letter : Char} (hshort : shortEscape? c = some letter) :
    escapeValue? letter = some c := by
  unfold shortEscape? at hshort
  grind [escapeValue?]

/-- A unit that is no half of a pair stands for its own character. -/
theorem value?_unit_cons {a b c d : Char} {n : Nat} (hread : unitValue? a b c d = some n)
    (hlow : n < 0xD800) (rest : List Piece) :
    value? (unit a b c d :: rest) = (value? rest).map (Char.ofNat n :: ·) := by
  have hisLow : isLow n = false := by
    simp only [Piece.isLow, Bool.and_eq_false_iff, decide_eq_false_iff_not]
    omega
  have hisHigh : isHigh n = false := by
    simp only [Piece.isHigh, Bool.and_eq_false_iff, decide_eq_false_iff_not]
    omega
  cases rest with
  | nil => simp [value?, hread, hisLow, hisHigh]
  | cons next rest => simp [value?, hread, hisLow, hisHigh]

theorem value?_ofChar_cons (c : Char) (rest : List Piece) :
    value? (ofChar c :: rest) = (value? rest).map (c :: ·) := by
  unfold ofChar
  cases hshort : shortEscape? c with
  | some letter => simp [value?, escapeValue?_shortEscape? hshort]
  | none =>
      dsimp only
      split
      next hcontrol =>
        rw [value?_unit_cons (unitValue?_control hcontrol) (by omega), Char.ofNat_toNat]
      next => rfl

theorem value?_map_ofChar (s : List Char) : value? (s.map ofChar) = some s := by
  induction s with
  | nil => rfl
  | cons c s ih => rw [List.map_cons, value?_ofChar_cons, ih, Option.map_some]

theorem isProper_ofChar (c : Char) : (ofChar c).IsProper := by
  unfold ofChar
  cases hshort : shortEscape? c with
  | some letter =>
      unfold shortEscape? at hshort
      change letter ∈ _
      grind
  | none =>
      dsimp only
      split
      next hcontrol =>
        refine ⟨.inl (by decide), .inl (by decide), ?_, ?_⟩
        · exact isHexDigit_unitDigit (by omega)
        · exact isHexDigit_unitDigit (by omega)
      next hvisible =>
        unfold shortEscape? at hshort
        refine ⟨?_, ?_, by omega⟩
        · rintro rfl
          contradiction
        · rintro rfl
          contradiction

end Piece

/-- The literal is spelled by the rules of JSON and stands for the text. -/
structure Spells (pieces : List Piece) (text : String) : Prop where
  proper : ∀ piece ∈ pieces, piece.IsProper
  value : stringValue pieces = .ok text

/-- The literal of a text as it is printed. -/
def printed (text : String) : List Piece := text.toList.map Piece.ofChar

/-- Every text has a literal, the one that is printed. -/
theorem spells_printed (text : String) : Spells (printed text) text where
  proper := by
    intro piece hmem
    obtain ⟨c, -, rfl⟩ := List.mem_map.mp hmem
    exact Piece.isProper_ofChar c
  value := by
    unfold stringValue printed
    rw [Piece.value?_map_ofChar]
    exact congrArg Except.ok String.ofList_toList

/-! ### Whole numbers -/

namespace Numeral

/-- The numeral of a whole number. -/
def ofNat (n : Nat) : Numeral := ⟨false, Nat.toDigits 10 n, none, none⟩

@[simp] theorem text_ofNat (n : Nat) : (ofNat n).text = Nat.toDigits 10 n := by
  simp [ofNat, text]

theorem digitsValue_toDigits (n : Nat) : digitsValue (Nat.toDigits 10 n) = n :=
  Nat.ofDigitChars_toDigits (by omega) (by omega)

/-- No number is printed with a zero before its other digits. -/
theorem toDigits_ne_zero_cons (n : Nat) (first : Char) (rest : List Char) :
    Nat.toDigits 10 n ≠ '0' :: first :: rest := by
  induction n using Nat.strongRecOn generalizing first rest with
  | ind n ih =>
      intro hprinted
      by_cases hsmall : n < 10
      · simp [Nat.toDigits_of_lt_base hsmall] at hprinted
      · rw [Nat.toDigits_of_base_le (by omega) (by omega)] at hprinted
        obtain ⟨c, tail, hshorter⟩ :=
          List.exists_cons_of_ne_nil (Nat.toDigits_ne_nil (n := n / 10) (b := 10))
        rw [hshorter, List.cons_append, List.cons.injEq] at hprinted
        obtain ⟨rfl, hprinted⟩ := hprinted
        cases tail with
        | nil =>
            -- A zero alone is the number zero, and here something is left of the last digit.
            have hvalue := digitsValue_toDigits (n / 10)
            rw [hshorter] at hvalue
            change 0 = n / 10 at hvalue
            omega
        | cons second tail => exact ih (n / 10) (by omega) second tail hshorter

theorem isProper_ofNat (n : Nat) : (ofNat n).IsProper where
  whole := {
    nonempty := Nat.toDigits_ne_nil
    all := fun _ hmem => Nat.isDigit_of_mem_toDigits (by omega) (by omega) hmem }
  leading first rest hprinted := toDigits_ne_zero_cons n first rest hprinted
  fraction := nofun
  exponent := nofun

/-- A numeral stands for a natural number when it is digits alone and their value has 64 bits. -/
theorem value?_eq_natural_iff {numeral : Numeral} {n : Nat} :
    numeral.value? = some (.natural n) ↔
      ∃ digits, numeral = ⟨false, digits, none, none⟩ ∧ digitsValue digits = n ∧ n < 2 ^ 64 := by
  obtain ⟨negative, whole, fraction, exponent⟩ := numeral
  unfold value?
  dsimp only
  constructor
  · intro hvalue
    split at hvalue
    next hnatural =>
      cases hvalue
      simp only [Bool.and_eq_true, Option.isNone_iff_eq_none, Bool.not_eq_true',
        decide_eq_true_eq] at hnatural
      obtain ⟨⟨⟨rfl, rfl⟩, rfl⟩, hfits⟩ := hnatural
      exact ⟨whole, rfl, rfl, hfits⟩
    next =>
      split at hvalue
      next => cases hvalue
      next =>
        obtain ⟨x, -, hother⟩ := Option.map_eq_some_iff.mp hvalue
        cases hother
  · rintro ⟨digits, hsame, rfl, hfits⟩
    cases hsame
    rw [if_pos (by simpa using hfits)]

theorem value?_ofNat {n : Nat} (hfits : n < 2 ^ 64) : (ofNat n).value? = some (.natural n) :=
  value?_eq_natural_iff.mpr ⟨_, rfl, digitsValue_toDigits n, hfits⟩

end Numeral

end ChainRpc.Json
