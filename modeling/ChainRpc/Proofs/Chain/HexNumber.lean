import ChainRpc.Chain.Header
import ChainRpc.Proofs.Json.Restored
import Mathlib.Data.Nat.Digits.Lemmas

/-!
# Block numbers

A block number is read from a plain number of 64 bits that is written in digits alone, and from a
string of hexadecimal digits of either case, which may stand behind a marker. Any number of zeros
may lead as long as the value has 64 bits. Before the digits a plus is let through as well, behind
the marker if there is one. Everything else is refused.
-/

namespace ChainRpc.Chain.HexNumber

open Json (Decoder Denotes Node Numeral Piece Written stringValue)
open Text (Hex.IsUnmarked)

/-! ### Digits -/

/-- The character is the digit to base sixteen of the number, in either case. -/
def IsDigitOf (c : Char) (n : Nat) : Prop := n < 16 ∧ c.toLower = Nat.digitChar n

instance (c : Char) (n : Nat) : Decidable (IsDigitOf c n) := inferInstanceAs (Decidable (_ ∧ _))

theorem IsDigitOf.toNat_lt {c : Char} {n : Nat} (hdigit : IsDigitOf c n) : c.toNat < 128 := by
  obtain ⟨hsmall, hlower⟩ := hdigit
  have hascii : ∀ m < 16, (Nat.digitChar m).toNat < 128 := by decide
  have hbound := hascii n hsmall
  rw [← hlower] at hbound
  obtain hsame | ⟨-, -, hmoved⟩ := Text.Hex.toNat_toLower c <;> omega

theorem hexValue?_eq_some_iff {c : Char} {n : Nat} :
    Piece.hexValue? c = some n ↔ IsDigitOf c n := by
  have htable : ∀ k < 128, ∀ m < 16,
      Piece.hexValue? (Char.ofNat k) = some m ↔ IsDigitOf (Char.ofNat k) m := by
    decide +kernel
  constructor
  · intro hvalue
    have hbounds : c.toNat < 128 ∧ n < 16 := by
      grind [Piece.hexValue?]
    have hsame := htable c.toNat hbounds.1 n hbounds.2
    rw [Char.ofNat_toNat] at hsame
    exact hsame.mp hvalue
  · intro hdigit
    have hsame := htable c.toNat hdigit.toNat_lt n hdigit.1
    rw [Char.ofNat_toNat] at hsame
    exact hsame.mpr hdigit

/-- The characters are digits to base sixteen, one at least, and the number is their value. -/
def DigitsOf (digits : List Char) (n : Nat) : Prop :=
  digits ≠ [] ∧ ∃ values, List.Forall₂ IsDigitOf digits values ∧ n = Nat.ofDigits 16 values.reverse

theorem mapM_hexValue?_eq_some_iff {digits : List Char} {values : List Nat} :
    digits.mapM Piece.hexValue? = some values ↔ List.Forall₂ IsDigitOf digits values := by
  induction digits generalizing values with
  | nil => simp [eq_comm]
  | cons c digits ih =>
      simp only [List.mapM_cons, Option.bind_eq_bind, Option.bind_eq_some_iff, Option.pure_def,
        Option.some.injEq, List.forall₂_cons_left_iff, hexValue?_eq_some_iff, ih]
      grind

theorem foldl_eq_ofDigits (values : List Nat) :
    values.foldl (fun n digit => 16 * n + digit) 0 = Nat.ofDigits 16 values.reverse := by
  rw [Nat.ofDigits_eq_foldr, List.foldr_reverse]
  simp only [Nat.cast_id, Nat.add_comm]

theorem digitsValue?_eq_some_iff {digits : List Char} {n : Nat} :
    digitsValue? digits = some n ↔ DigitsOf digits n ∧ n < 2 ^ 64 := by
  unfold digitsValue? DigitsOf
  cases digits with
  | nil => simp
  | cons c digits =>
      simp only [List.isEmpty_cons, Bool.false_eq_true, if_false, Option.bind_eq_bind,
        Option.bind_eq_some_iff, mapM_hexValue?_eq_some_iff, foldl_eq_ofDigits]
      grind

/-! ### Texts -/

/-- The text without one leading marker consists of the digits of the number. -/
def Spells (text : String) (n : Nat) : Prop :=
  ∃ digits, Hex.IsUnmarked text (String.ofList digits) ∧ DigitsOf digits n

/-- The text without one leading marker is a plus and the digits of the number. -/
def SpellsAfterPlus (text : String) (n : Nat) : Prop :=
  ∃ digits, Hex.IsUnmarked text (String.ofList ('+' :: digits)) ∧ DigitsOf digits n

theorem isUnmarked_iff {text : String} {rest : List Char} :
    Hex.IsUnmarked text (String.ofList rest) ↔ Text.Hex.unmark text.toList = rest := by
  constructor
  · intro hunmarked
    exact String.ofList_injective hunmarked.eq
  · rintro rfl
    exact Text.Hex.isUnmarked_unmark text

theorem not_digitsOf_plus {digits : List Char} {n : Nat} : ¬DigitsOf ('+' :: digits) n := by
  rintro ⟨-, values, hall, -⟩
  have hnone : ∀ m < 16, ¬IsDigitOf '+' m := by decide
  cases hall with
  | cons hfirst hothers => exact hnone _ hfirst.1 hfirst

theorem ofText?_eq_some_iff {text : String} {n : Nat} :
    ofText? text = some n ↔ (Spells text n ∨ SpellsAfterPlus text n) ∧ n < 2 ^ 64 := by
  unfold ofText? Spells SpellsAfterPlus
  simp only [isUnmarked_iff, exists_eq_left']
  split
  next digits hplus =>
    rw [hplus, digitsValue?_eq_some_iff]
    simp [not_digitsOf_plus]
  next digits hunsigned =>
    rw [digitsValue?_eq_some_iff]
    grind

/-! ### Values -/

/-- The value stands for the number: it is a plain number, written in digits alone, or a string of
hexadecimal digits. -/
inductive StandsFor (node : Node) (n : Nat) : Prop
  | plain {digits : List Char} (hwritten : node = .number ⟨false, digits, none, none⟩)
      (hvalue : Numeral.digitsValue digits = n)
  | spelled {pieces : List Piece} {content : String} (hwritten : node = .string pieces)
      (htext : stringValue pieces = .ok content) (hspells : Spells content n)

/-- The value is a string of a plus and the hexadecimal digits of the number. -/
def StandsAfterPlus (node : Node) (n : Nat) : Prop :=
  ∃ pieces content, node = .string pieces ∧ stringValue pieces = .ok content ∧
    SpellsAfterPlus content n

section Read

variable {room n : Nat} {node : Node} {pieces : List Piece}

theorem decoder_string_eq_ok_iff :
    decoder room (.string pieces) = .ok n ↔
      ∃ content, stringValue pieces = .ok content ∧ ofText? content = some n := by
  simp only [decoder, Json.bind_eq_ok_iff]
  constructor
  · rintro ⟨content, htext, hread⟩
    split at hread
    next hfound =>
      cases hread
      exact ⟨content, htext, hfound⟩
    next => cases hread
  · rintro ⟨content, htext, hfound⟩
    exact ⟨content, htext, by rw [hfound]⟩

/-- Whatever is no string is read as a plain number. -/
theorem decoder_of_not_string (hother : ∀ pieces, node ≠ .string pieces) :
    decoder room node = Decoder.natural (2 ^ 64) room node := by
  cases node with
  | string pieces => exact absurd rfl (hother pieces)
  | _ => rfl

theorem decoder_number_eq_ok_iff {numeral : Numeral} :
    decoder room (.number numeral) = .ok n ↔
      ∃ digits, numeral = ⟨false, digits, none, none⟩ ∧ Numeral.digitsValue digits = n ∧
        n < 2 ^ 64 := by
  rw [← Numeral.value?_eq_natural_iff, decoder_of_not_string (by simp), Decoder.natural_eq_ok_iff]
  constructor
  · rintro ⟨_, ⟨⟩, hvalue, -⟩
    exact hvalue
  · intro hvalue
    obtain ⟨-, -, -, hfits⟩ := Numeral.value?_eq_natural_iff.mp hvalue
    exact ⟨numeral, rfl, hvalue, hfits⟩

theorem decoder_eq_ok_iff :
    decoder room node = .ok n ↔ n < 2 ^ 64 ∧ (StandsFor node n ∨ StandsAfterPlus node n) := by
  constructor
  · intro hread
    cases node with
    | string pieces =>
        obtain ⟨content, htext, hfound⟩ := decoder_string_eq_ok_iff.mp hread
        obtain ⟨hspells | hsigned, hfits⟩ := ofText?_eq_some_iff.mp hfound
        · exact ⟨hfits, .inl (.spelled rfl htext hspells)⟩
        · exact ⟨hfits, .inr ⟨pieces, content, rfl, htext, hsigned⟩⟩
    | number numeral =>
        obtain ⟨digits, rfl, hvalue, hfits⟩ := decoder_number_eq_ok_iff.mp hread
        exact ⟨hfits, .inl (.plain rfl hvalue)⟩
    | _ => cases hread
  · rintro ⟨hfits, (hstands | ⟨pieces, content, rfl, htext, hsigned⟩)⟩
    · cases hstands with
      | plain hwritten hvalue =>
          subst hwritten
          exact decoder_number_eq_ok_iff.mpr ⟨_, rfl, hvalue, hfits⟩
      | spelled hwritten htext hspells =>
          subst hwritten
          exact decoder_string_eq_ok_iff.mpr
            ⟨_, htext, ofText?_eq_some_iff.mpr ⟨.inl hspells, hfits⟩⟩
    · exact decoder_string_eq_ok_iff.mpr
        ⟨content, htext, ofText?_eq_some_iff.mpr ⟨.inr hsigned, hfits⟩⟩

end Read

theorem careful_decoder : Decoder.Careful decoder where
  whole {room node n} hread := by
    obtain ⟨-, (hstands | ⟨pieces, content, rfl, -⟩)⟩ := decoder_eq_ok_iff.mp hread
    · cases hstands with
      | plain hwritten hvalue => exact hwritten ▸ rfl
      | spelled hwritten htext hspells => exact hwritten ▸ rfl
    · rfl
  plain room node := by
    by_cases hstring : ∃ pieces, node = .string pieces
    · obtain ⟨pieces, rfl⟩ := hstring
      apply (Json.isPlain_stringValue pieces).bind
      intro content
      split <;> simp
    · rw [decoder_of_not_string (not_exists.mp hstring)]
      exact (Decoder.careful_natural (2 ^ 64)).plain room node

/-! ### Printed numbers -/

theorem digitsOf_toDigits (n : Nat) : DigitsOf (Nat.toDigits 16 n) n := by
  have hprinted : ∀ m < 16, IsDigitOf (Nat.digitChar m) m := by decide
  induction n using Nat.strongRecOn with
  | ind n ih =>
      by_cases hsmall : n < 16
      · rw [Nat.toDigits_of_lt_base hsmall]
        exact ⟨by simp, [n], .cons (hprinted n hsmall) .nil, by simp⟩
      · obtain ⟨-, values, hall, hvalue⟩ := ih (n / 16) (by omega)
        rw [Nat.toDigits_of_base_le (by omega) (by omega)]
        refine ⟨by simp, values ++ [n % 16],
          List.rel_append hall (.cons (hprinted _ (by omega)) .nil), ?_⟩
        rw [List.reverse_append, List.reverse_singleton, List.singleton_append, Nat.ofDigits_cons,
          ← hvalue]
        omega

theorem spells_text (n : Nat) : Spells (text n) n := by
  refine ⟨Nat.toDigits 16 n, isUnmarked_iff.mpr ?_, digitsOf_toDigits n⟩
  rw [text, String.toList_ofList]
  rfl

theorem restores_decoder :
    Decoder.Restores decoder (fun n => .string (text n)) (· < 2 ^ 64) where
  exact n := Json.Value.isExact_string (text n)
  read {_ n} hfits _ := decoder_eq_ok_iff.mpr
    ⟨hfits, .inl (.spelled rfl (Json.spells_printed (text n)).value (spells_text n))⟩
  fits hread := (decoder_eq_ok_iff.mp hread).1

/-! ### Which texts are block numbers -/

/-- A block number is read from the plain numbers of 64 bits that are written in digits alone, and
from the strings that are, without one leading marker, the digits to base sixteen of a number of 64
bits, one at least and each in either case, or a plus before such digits. The number is the value of
the digits. Every other value is refused for its shape, and so is every text that is no JSON. -/
theorem block_number_is_read_iff (room : Nat) (node : Node) (raw : String) :
    (∀ n, decoder room node = .ok n ↔
      n < 2 ^ 64 ∧ (StandsFor node n ∨ StandsAfterPlus node n)) ∧
    (∀ n, decoder.ofText raw = .ok n ↔
      n < 2 ^ 64 ∧ ∃ before node after, Written raw before node after ∧
        (StandsFor node n ∨ StandsAfterPlus node n)) ∧
    ((∀ n < 2 ^ 64, ¬StandsFor node n ∧ ¬StandsAfterPlus node n) →
      decoder room node = .error .shape) ∧
    ((∀ n, decoder.ofText raw ≠ .ok n) → decoder.ofText raw = .error .shape) := by
  refine ⟨fun n => decoder_eq_ok_iff, ?_, ?_, ?_⟩
  · intro n
    constructor
    · intro hread
      obtain ⟨before, node, after, hwritten, hread⟩ := careful_decoder.written_of_ofText hread
      obtain ⟨hfits, hstands⟩ := decoder_eq_ok_iff.mp hread
      exact ⟨hfits, before, node, after, hwritten, hstands⟩
    · rintro ⟨hfits, before, node, after, hwritten, hstands⟩
      rw [Decoder.ofText_of_written _ hwritten]
      exact decoder_eq_ok_iff.mpr ⟨hfits, hstands⟩
  · intro hnone
    cases hread : decoder room node with
    | ok n =>
        obtain ⟨hfits, hstands⟩ := decoder_eq_ok_iff.mp hread
        obtain ⟨hunspelled, hunsigned⟩ := hnone n hfits
        exact (hstands.elim hunspelled hunsigned).elim
    | error fault => rw [careful_decoder.plain room node fault hread]
  · intro hnone
    cases hread : decoder.ofText raw with
    | ok n => exact absurd hread (hnone n)
    | error fault => rw [careful_decoder.isPlain_ofText raw fault hread]

/-- A plus before the digits is let through, though the string does not stand for a number. -/
theorem signedText_is_read :
    decoder.ofText "\"+1\"" = .ok 1 ∧
      ¬∃ before node after, Written "\"+1\"" before node after ∧ ∃ n, StandsFor node n := by
  refine ⟨by decide +kernel, ?_⟩
  rintro ⟨before, node, after, hwritten, n, hstands⟩
  have hdenotes : Denotes "\"+1\"" "+1" := Decoder.ofText_string_eq_ok_iff.mp (by decide +kernel)
  obtain ⟨before', pieces, after', hwritten', htext⟩ := hdenotes
  have hsame := (Json.Document.ofText_eq_iff.mpr hwritten).1.symm.trans
    (Json.Document.ofText_eq_iff.mpr hwritten').1
  cases hsame
  cases hstands with
  | plain hnumber hvalue => cases hnumber
  | spelled hstring htext' hspells =>
      cases hstring
      obtain rfl := Except.ok.inj (htext.symm.trans htext')
      obtain ⟨digits, hunmarked, hspelled⟩ := hspells
      obtain rfl : ['+', '1'] = digits := isUnmarked_iff.mp hunmarked
      exact not_digitsOf_plus hspelled

end ChainRpc.Chain.HexNumber
