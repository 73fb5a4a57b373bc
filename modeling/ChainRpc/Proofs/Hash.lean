import ChainRpc.Error
import ChainRpc.Proofs.Json.Strings
import ChainRpc.Proofs.Text.Hex

/-!
# Hashes and byte strings as texts

A hash is read from the texts that stand for so many bytes. That the number of digits is right is
looked at before the digits are. A byte string is read from every text that stands for bytes. In
JSON both are the strings of these texts, and what was printed is read back.
-/

namespace ChainRpc

open Text

namespace Hash

variable {size : Nat} {text : String}

/-- A hash needs two digits for each byte. -/
theorem ofHex_of_count (hwrong : (Hex.digitBytes text).length ≠ 2 * size) :
    (Hash.ofHex text : Except HexFault (Hash size)) =
      .error (.count (2 * size) (Hex.digitBytes text).length) := by
  simp only [Hash.ofHex, if_pos hwrong]

theorem ofHex_of_fault (hright : (Hex.digitBytes text).length = 2 * size) {fault : Hex.Fault}
    (hread : Hex.decode text = .error fault) :
    (Hash.ofHex text : Except HexFault (Hash size)) = .error (.digits fault) := by
  rw [Hex.decode] at hread
  simp only [Hash.ofHex, ne_eq, hright, not_true_eq_false, if_false, hread]

theorem ofHex_of_decode {hash : Hash size} (hread : Hex.decode text = .ok hash.bytes) :
    Hash.ofHex text = .ok hash := by
  have hright := Hex.length_of_decode hread
  rw [hash.length_bytes] at hright
  rw [Hex.decode] at hread
  simp only [Hash.ofHex, ne_eq, hright, not_true_eq_false, if_false, hread, ofBytes?,
    dif_pos hash.length_bytes]

/-- What is read of a text as a hash, by what is read of it as bytes. -/
theorem ofHex_cases (size : Nat) (text : String) :
    ((Hex.digitBytes text).length ≠ 2 * size ∧
      (Hash.ofHex text : Except HexFault (Hash size)) =
        .error (.count (2 * size) (Hex.digitBytes text).length)) ∨
    (Hex.digitBytes text).length = 2 * size ∧
      ((∃ fault, Hex.decode text = .error fault ∧
        (Hash.ofHex text : Except HexFault (Hash size)) = .error (.digits fault)) ∨
      ∃ hash : Hash size, Hex.decode text = .ok hash.bytes ∧ Hash.ofHex text = .ok hash) := by
  by_cases hright : (Hex.digitBytes text).length = 2 * size
  · refine .inr ⟨hright, ?_⟩
    cases hread : Hex.decode text with
    | error fault => exact .inl ⟨fault, rfl, ofHex_of_fault hright hread⟩
    | ok bytes =>
        have hlength := Hex.length_of_decode hread
        have hfits : bytes.length = size := by omega
        exact .inr ⟨⟨bytes, hfits⟩, rfl, ofHex_of_decode hread⟩
  · exact .inl ⟨hright, ofHex_of_count hright⟩

/-- A hash is read from the texts that stand for its bytes. -/
theorem ofHex_eq_ok_iff {hash : Hash size} :
    Hash.ofHex text = .ok hash ↔ Hex.decode text = .ok hash.bytes := by
  constructor
  · intro h
    rcases ofHex_cases size text with ⟨-, hfailed⟩
      | ⟨-, ⟨fault, -, hfailed⟩ | ⟨other, hread, hfound⟩⟩
    · rw [hfailed] at h
      cases h
    · rw [hfailed] at h
      cases h
    · rw [hfound] at h
      rw [hread, Except.ok.inj h]
  · exact ofHex_of_decode

/-- Two digits for each byte are read as a hash, and nothing else is. -/
theorem ofHex_isOk_iff :
    (∃ hash : Hash size, Hash.ofHex text = .ok hash) ↔
      (Hex.digitBytes text).length = 2 * size ∧ ∀ byte ∈ Hex.digitBytes text, Hex.IsDigit byte := by
  constructor
  · rintro ⟨hash, hread⟩
    rw [ofHex_eq_ok_iff] at hread
    have hlength := Hex.length_of_decode hread
    rw [hash.length_bytes] at hlength
    exact ⟨hlength, (Hex.decodeDigits_eq_ok hread).2.1⟩
  · rintro ⟨hright, hall⟩
    obtain ⟨out, hread⟩ := Hex.decodeDigits_isOk_iff.mpr ⟨by omega, hall⟩
    have hlength := Hex.length_of_decode hread
    exact ⟨⟨out, by omega⟩, ofHex_of_decode hread⟩

/-- A wrong number of digits is all that is looked at. -/
theorem ofHex_count_iff {expected actual : Nat} :
    (Hash.ofHex text : Except HexFault (Hash size)) = .error (.count expected actual) ↔
      expected = 2 * size ∧ actual = (Hex.digitBytes text).length ∧ actual ≠ expected := by
  rcases ofHex_cases size text with ⟨hwrong, hfailed⟩
    | ⟨hright, ⟨fault, -, hfailed⟩ | ⟨hash, -, hfound⟩⟩
  · rw [hfailed]
    grind
  · rw [hfailed]
    grind
  · rw [hfound]
    grind

/-- The digits are looked at when their number is right. -/
theorem ofHex_digits_iff {fault : Hex.Fault} :
    (Hash.ofHex text : Except HexFault (Hash size)) = .error (.digits fault) ↔
      (Hex.digitBytes text).length = 2 * size ∧ Hex.decode text = .error fault := by
  rcases ofHex_cases size text with
    ⟨hwrong, hfailed⟩ | ⟨hright, ⟨fault', hread, hfailed⟩ | ⟨hash, hread, hfound⟩⟩
  · rw [hfailed]
    simp [hwrong]
  · rw [hfailed, hread]
    simp [hright]
  · rw [hfound, hread]
    simp

/-- Of the errors that a caller sees, those for the number of digits are malformed input. -/
theorem malformed_iff {result : Except HexFault (Hash size)} {expected actual : Nat} :
    result.mapError Error.ofHexFault = .error (.malformed (.digitCount expected actual)) ↔
      result = .error (.count expected actual) := by
  rcases result with ⟨- | -⟩ | hash <;> simp [Except.mapError, Error.ofHexFault]

theorem hex_iff {result : Except HexFault (Hash size)} {fault : Hex.Fault} :
    result.mapError Error.ofHexFault = .error (.hex fault) ↔ result = .error (.digits fault) := by
  rcases result with ⟨- | -⟩ | hash <;> simp [Except.mapError, Error.ofHexFault]

/-- A hash is read back from its digits, with or without the marker. -/
theorem ofHex_of_spells {hash : Hash size} (h : Hex.Spells text hash.bytes) :
    Hash.ofHex text = .ok hash :=
  ofHex_of_decode (Hex.decode_eq_ok_iff.mpr h)

end Hash

namespace Blob

variable {text : String}

/-- A byte string is read from the texts that stand for it. -/
theorem ofHex_eq_ok_iff {blob : Blob} :
    Blob.ofHex text = .ok blob ↔ Hex.decode text = .ok blob.bytes := by
  rw [Blob.ofHex]
  cases Hex.decode text with
  | error fault => simp [Except.map]
  | ok bytes =>
      obtain ⟨content⟩ := blob
      simp [Except.map]

theorem ofHex_eq_error_iff {fault : Hex.Fault} :
    Blob.ofHex text = .error fault ↔ Hex.decode text = .error fault :=
  Json.map_eq_error_iff

theorem ofHex_of_spells {blob : Blob} (h : Hex.Spells text blob.bytes) :
    Blob.ofHex text = .ok blob :=
  ofHex_eq_ok_iff.mpr (Hex.decode_eq_ok_iff.mpr h)

end Blob

/-- Without one leading marker, a text is read as bytes exactly when it has an even number of bytes
and all of them are digits; the bytes are then printed as these digits in lower case behind the
marker. An odd number of bytes is refused for that, and any other text for its first byte that is
no digit. A byte string is read from the same texts and refused alike. A hash is read from those
among them that have two digits for each of its bytes: another number is malformed input and looked
at before the digits. What is printed for bytes or for a hash is read back, with or without the
marker, and in JSON strings are read as these texts are. -/
theorem hexadecimal_is_read_exactly :
    (∀ text : String, ∃ (rest : String) (bytes : List UInt8),
      Hex.IsUnmarked text rest ∧ bytes = Utf8.encode rest ∧
      ((∃ out, Hex.decode text = .ok out) ↔
        bytes.length % 2 = 0 ∧ ∀ byte ∈ bytes, Hex.IsDigit byte) ∧
      (∀ out, Hex.decode text = .ok out ↔ Hex.encode out = "0x" ++ rest.toLower) ∧
      (Hex.decode text = .error .odd ↔ bytes.length % 2 = 1) ∧
      (∀ byte index, Hex.decode text = .error (.digit byte index) ↔
        bytes.length % 2 = 0 ∧ Hex.FirstStray bytes byte index) ∧
      (∀ blob, Blob.ofHex text = .ok blob ↔ Hex.decode text = .ok blob.bytes) ∧
      (∀ fault, Blob.ofHex text = .error fault ↔ Hex.decode text = .error fault) ∧
      ∀ size : Nat,
        ((∃ hash : Hash size, Hash.ofHex text = .ok hash) ↔
          bytes.length = 2 * size ∧ ∀ byte ∈ bytes, Hex.IsDigit byte) ∧
        (∀ hash : Hash size, Hash.ofHex text = .ok hash ↔ hash.toHex = "0x" ++ rest.toLower) ∧
        (∀ expected actual,
          ((Hash.ofHex text : Except HexFault (Hash size)).mapError Error.ofHexFault =
              .error (.malformed (.digitCount expected actual)) ↔
            expected = 2 * size ∧ actual = bytes.length ∧ actual ≠ expected)) ∧
        ∀ fault,
          ((Hash.ofHex text : Except HexFault (Hash size)).mapError Error.ofHexFault =
              .error (.hex fault) ↔
            bytes.length = 2 * size ∧ Hex.decode text = .error fault)) ∧
    (∀ bytes : List UInt8, Hex.decode (Hex.encode bytes) = .ok bytes ∧
      Hex.decode (String.ofList (Hex.digits bytes)) = .ok bytes) ∧
    (∀ blob : Blob, Blob.ofHex blob.toHex = .ok blob ∧
      Blob.ofHex (String.ofList (Hex.digits blob.bytes)) = .ok blob) ∧
    (∀ (size : Nat) (hash : Hash size), Hash.ofHex hash.toHex = .ok hash ∧
      Hash.ofHex (String.ofList (Hex.digits hash.bytes)) = .ok hash) ∧
    (∀ text : String,
      Json.Decoder.blob.ofText (Json.Value.string text).text =
        (Blob.ofHex text).mapError fun fault => .content (.digits fault)) ∧
    (∀ (size : Nat) (text : String),
      (Json.Decoder.hash size).ofText (Json.Value.string text).text =
        (Hash.ofHex text).mapError .content) ∧
    (∀ blob : Blob, Json.Decoder.blob.ofText (Json.Value.string blob.toHex).text = .ok blob) ∧
    ∀ (size : Nat) (hash : Hash size),
      (Json.Decoder.hash size).ofText (Json.Value.string hash.toHex).text = .ok hash := by
  have hliteral (text : String) := Json.denotes_text text
  have hmarked (bytes : List UInt8) := Hex.spells_encode bytes
  have hplain (bytes : List UInt8) := Hex.spells_digits bytes
  refine ⟨?_, ?_, ?_, ?_, ?_, ?_, ?_, ?_⟩
  · intro text
    have hunmarked := Hex.isUnmarked_unmark text
    refine ⟨_, Hex.digitBytes text, hunmarked, rfl, Hex.decodeDigits_isOk_iff,
      fun out => Hex.decode_eq_ok_iff_encode hunmarked, Hex.decodeDigits_odd_iff,
      fun byte index => Hex.decodeDigits_digit_iff, fun blob => Blob.ofHex_eq_ok_iff,
      fun fault => Blob.ofHex_eq_error_iff, fun size => ⟨Hash.ofHex_isOk_iff, ?_, ?_, ?_⟩⟩
    · intro hash
      exact Hash.ofHex_eq_ok_iff.trans (Hex.decode_eq_ok_iff_encode hunmarked)
    · intro expected actual
      rw [Hash.malformed_iff, Hash.ofHex_count_iff]
    · intro fault
      rw [Hash.hex_iff, Hash.ofHex_digits_iff]
  · intro bytes
    exact ⟨Hex.decode_eq_ok_iff.mpr (hmarked bytes), Hex.decode_eq_ok_iff.mpr (hplain bytes)⟩
  · intro blob
    exact ⟨Blob.ofHex_of_spells (hmarked _), Blob.ofHex_of_spells (hplain _)⟩
  · intro size hash
    exact ⟨Hash.ofHex_of_spells (hmarked _), Hash.ofHex_of_spells (hplain _)⟩
  · intro text
    exact Json.Decoder.ofText_stringWith _ (hliteral text)
  · intro size text
    exact Json.Decoder.ofText_stringWith _ (hliteral text)
  · intro blob
    have hread : Blob.ofHex blob.toHex = .ok blob := Blob.ofHex_of_spells (hmarked _)
    refine (Json.Decoder.ofText_stringWith _ (hliteral blob.toHex)).trans ?_
    rw [hread]
    rfl
  · intro size hash
    have hread : Hash.ofHex hash.toHex = .ok hash := Hash.ofHex_of_spells (hmarked _)
    refine (Json.Decoder.ofText_stringWith _ (hliteral hash.toHex)).trans ?_
    rw [hread]
    rfl

end ChainRpc
