import ChainRpc.Proofs.Hash
import ChainRpc.Proofs.Scale.Delimited
import ChainRpc.Rpc.ResultType

/-!
# Results in hexadecimal

A result of encoded bytes crosses three layers: a JSON string, the hexadecimal text that it denotes,
and the bytes that this text stands for. Each layer refuses what is not its own, so the error tells
which of them was at fault. What was encoded comes back as it was, through all three or through
fewer, whatever escapes, case, marker and further bytes there are.
-/

namespace ChainRpc.Scale

/-- Encoded bytes are only refused as bytes. -/
theorem Format.ofBytes_eq_error (format : Format .both) {bytes : List UInt8} {error : Error}
    (h : format.decoder.ofBytes bytes = .error error) :
    (∃ cause, error = .malformed cause) ∨ ∃ tag count, error = .unknownVariant tag count := by
  unfold Decoder.ofBytes at h
  split at h
  next => cases h
  next refused after hread =>
    cases h
    obtain ⟨taken, -, -, hcause⟩ := format.stops.alone hread
    refine hcause.imp_right ?_
    rintro ⟨⟨tag, count, -, -, -, hunknown⟩, -⟩
    exact ⟨_, count, hunknown⟩

/-- A value is read from its encoding, whatever follows. -/
theorem Format.ofBytes_written {format : Format .both} {value : format.Value}
    (h : format.WellFormed value) (rest : List UInt8) :
    format.decoder.ofBytes ((format.encoder.write value).bytes ++ rest) = .ok value := by
  rw [Decoder.ofBytes, Cursor.start, format.mirrors.alone.takes h]

namespace Decoder

variable {α : Type} {text : String} {bytes : List UInt8}

theorem ofHex_of_spells (decoder : Decoder α) (h : Text.Hex.Spells text bytes) :
    decoder.ofHex text = decoder.ofBytes bytes := by
  rw [Decoder.ofHex, Text.Hex.decode_eq_ok_iff.mpr h]

/-- A text that stands for no bytes is refused as that. -/
theorem ofHex_of_not_spells (decoder : Decoder α) (h : ∀ bytes, ¬ Text.Hex.Spells text bytes) :
    ∃ fault, decoder.ofHex text = .error (.hex fault) := by
  cases hread : Text.Hex.decode text with
  | ok bytes => exact absurd (Text.Hex.decode_eq_ok_iff.mp hread) (h bytes)
  | error fault => exact ⟨fault, by rw [Decoder.ofHex, hread]⟩

end Decoder

end ChainRpc.Scale

namespace ChainRpc.Rpc.ResultType

open Json (Denotes)
open Scale (Format)
open Text (Hex.Spells)

variable {α : Type} {raw content : String}

theorem decode_scale (name : String) (decoder : Scale.Decoder α) (raw : String) :
    (scale name decoder).decode raw =
      ((Json.Decoder.string.ofText raw).mapError .json >>= decoder.ofHex) := rfl

theorem decode_scale_of_denotes (name : String) (decoder : Scale.Decoder α)
    (h : Denotes raw content) : (scale name decoder).decode raw = decoder.ofHex content := by
  rw [decode_scale, Json.Decoder.ofText_string_eq_ok_iff.mpr h]
  rfl

/-- A text that is no JSON string is refused as that. -/
theorem decode_scale_of_not_denotes (name : String) (decoder : Scale.Decoder α)
    (h : ∀ content, ¬ Denotes raw content) :
    (scale name decoder).decode raw = .error (.json .shape) := by
  rw [decode_scale, Json.Decoder.ofText_string_eq_error_iff.mpr ⟨rfl, h⟩]
  rfl

/-- The three ways in which the raw text of a result is read, by the layer that decides. -/
theorem decode_scale_cases (name : String) (decoder : Scale.Decoder α) (raw : String) :
    ((∀ content, ¬ Denotes raw content) ∧
      (scale name decoder).decode raw = .error (.json .shape)) ∨
    (∃ content fault, Denotes raw content ∧ (∀ bytes, ¬ Hex.Spells content bytes) ∧
      (scale name decoder).decode raw = .error (.hex fault)) ∨
    ∃ content bytes, Denotes raw content ∧ Hex.Spells content bytes ∧
      (scale name decoder).decode raw = decoder.ofBytes bytes := by
  by_cases hdenoted : ∃ content, Denotes raw content
  · obtain ⟨content, hdenotes⟩ := hdenoted
    have hlayered := decode_scale_of_denotes name decoder hdenotes
    by_cases hspelled : ∃ bytes, Hex.Spells content bytes
    · obtain ⟨bytes, hspells⟩ := hspelled
      exact .inr (.inr ⟨content, bytes, hdenotes, hspells,
        hlayered.trans (decoder.ofHex_of_spells hspells)⟩)
    · have hnone := not_exists.mp hspelled
      obtain ⟨fault, hrefused⟩ := decoder.ofHex_of_not_spells hnone
      exact .inr (.inl ⟨content, fault, hdenotes, hnone, hlayered.trans hrefused⟩)
  · have hnone := not_exists.mp hdenoted
    exact .inl ⟨hnone, decode_scale_of_not_denotes name decoder hnone⟩

/-- The raw text of a result is refused as JSON exactly when it is no JSON string. -/
theorem decode_scale_json_iff (name : String) (format : Format .both) (raw : String) :
    (∃ fault, (scale name format.decoder).decode raw = .error (.json fault)) ↔
      ∀ content, ¬ Denotes raw content := by
  constructor
  · rintro ⟨fault, hrefused⟩
    rcases decode_scale_cases name format.decoder raw with
      ⟨hnone, -⟩ | ⟨content, other, -, -, hhex⟩ | ⟨content, bytes, -, -, hlayered⟩
    · exact hnone
    · rw [hrefused] at hhex
      cases hhex
    · rw [hrefused] at hlayered
      rcases format.ofBytes_eq_error hlayered.symm with ⟨cause, h⟩ | ⟨tag, count, h⟩ <;> cases h
  · intro hnone
    exact ⟨.shape, decode_scale_of_not_denotes name format.decoder hnone⟩

/-- It is refused as hexadecimal exactly when the string stands for no bytes. -/
theorem decode_scale_hex_iff (name : String) (format : Format .both) (raw : String) :
    (∃ fault, (scale name format.decoder).decode raw = .error (.hex fault)) ↔
      ∃ content, Denotes raw content ∧ ∀ bytes, ¬ Hex.Spells content bytes := by
  constructor
  · rintro ⟨fault, hrefused⟩
    rcases decode_scale_cases name format.decoder raw with
      ⟨-, hjson⟩ | ⟨content, other, hdenotes, hnone, -⟩ | ⟨content, bytes, -, -, hlayered⟩
    · rw [hrefused] at hjson
      cases hjson
    · exact ⟨content, hdenotes, hnone⟩
    · rw [hrefused] at hlayered
      rcases format.ofBytes_eq_error hlayered.symm with ⟨cause, h⟩ | ⟨tag, count, h⟩ <;> cases h
  · rintro ⟨content, hdenotes, hnone⟩
    obtain ⟨fault, hrefused⟩ := format.decoder.ofHex_of_not_spells hnone
    exact ⟨fault, (decode_scale_of_denotes name format.decoder hdenotes).trans hrefused⟩

/-- A value that fits its format is written, and from the bytes, whatever follows them, it is read
back: from the bytes themselves, from every text that stands for them, from the byte string that
such a text is read as, and from every JSON string that denotes such a text. The raw text of a
result is refused as JSON exactly when it denotes nothing, and as hexadecimal exactly when what it
denotes stands for no bytes. Otherwise it is read as the bytes are. -/
theorem values_cross_hexadecimal (format : Format .both) (name : String) :
    (∀ value, format.WellFormed value → ∀ rest : List UInt8, ∃ written,
      format.encoder.toBytes value = .ok written ∧
      format.decoder.ofBytes (written ++ rest) = .ok value ∧
      ∀ text, Hex.Spells text (written ++ rest) →
        format.decoder.ofHex text = .ok value ∧
        (∃ blob, Blob.ofHex text = .ok blob ∧ format.decoder.ofBytes blob.bytes = .ok value) ∧
        ∀ raw, Denotes raw text → (scale name format.decoder).decode raw = .ok value) ∧
    ∀ raw,
      ((∃ fault, (scale name format.decoder).decode raw = .error (.json fault)) ↔
        ∀ content, ¬ Denotes raw content) ∧
      ((∃ fault, (scale name format.decoder).decode raw = .error (.hex fault)) ↔
        ∃ content, Denotes raw content ∧ ∀ bytes, ¬ Hex.Spells content bytes) ∧
      ∀ content bytes, Denotes raw content → Hex.Spells content bytes →
        (scale name format.decoder).decode raw = format.decoder.ofBytes bytes := by
  constructor
  · intro value hfits rest
    have hback := Format.ofBytes_written hfits rest
    refine ⟨(format.encoder.write value).bytes, ?_, hback, fun text hspells => ⟨?_, ?_, ?_⟩⟩
    · rw [Scale.Encoder.toBytes, Scale.Output.toExcept, format.mirrors.alone.succeeds hfits]
    · exact (format.decoder.ofHex_of_spells hspells).trans hback
    · exact ⟨⟨_⟩, Blob.ofHex_of_spells hspells, hback⟩
    · intro raw hdenotes
      rw [decode_scale_of_denotes name format.decoder hdenotes,
        format.decoder.ofHex_of_spells hspells, hback]
  · intro raw
    refine ⟨decode_scale_json_iff name format raw, decode_scale_hex_iff name format raw, ?_⟩
    intro content bytes hdenotes hspells
    exact (decode_scale_of_denotes name format.decoder hdenotes).trans
      (format.decoder.ofHex_of_spells hspells)

/-- A list of one text with a byte behind it, in mixed case, between blanks and with an escape. -/
theorem sampleNames_cross :
    (Format.list .text : Format .both).WellFormed ["j"] ∧
      Hex.Spells "0x04046AbC" ([4, 4, 0x6A] ++ [0xBC]) ∧
      Denotes "\n\"\\u0030x04046AbC\" " "0x04046AbC" ∧
      (scale "names" (Format.list .text : Format .both).decoder).decode
        "\n\"\\u0030x04046AbC\" " = .ok ["j"] := by
  have hfits : (Format.list .text : Format .both).WellFormed ["j"] := by
    refine ⟨by decide, fun name hmem => ?_⟩
    obtain rfl := List.mem_singleton.mp hmem
    change (Text.Utf8.encode "j").length < 2 ^ 64
    decide +kernel
  have hspells : Hex.Spells "0x04046AbC" ([4, 4, 0x6A] ++ [0xBC]) :=
    Text.Hex.decode_eq_ok_iff.mp (by decide +kernel)
  have hdenotes : Denotes "\n\"\\u0030x04046AbC\" " "0x04046AbC" :=
    Json.Decoder.ofText_string_eq_ok_iff.mp (by decide +kernel)
  obtain ⟨written, hencoded, -, hcrossed⟩ :=
    (values_cross_hexadecimal (.list .text) "names").1 ["j"] hfits [0xBC]
  obtain rfl : [4, 4, 0x6A] = written := Except.ok.inj hencoded
  exact ⟨hfits, hspells, hdenotes, (hcrossed _ hspells).2.2 _ hdenotes⟩

end ChainRpc.Rpc.ResultType
